import TypedClient.Config.Basic
import TypedClient.Layout.Render
import TypedClient.Source.Check

namespace TypedClient.Source

open Layout

def lineDocs (ss : List String) : List Doc := ss.map word

def opening (runtimePath : String) : List Doc :=
  lineDocs [
    "//! League of Legends api client",
    "//!",
    "//! Generated by lolgen from the api reference. Do not edit.",
    "#![allow(unused_imports)]",
    "use " ++ normalPath runtimePath ++ " as rt;",
    "use rt::ToParam;",
    "use std::collections::HashMap;",
    "use std::fmt;",
    "use std::time::SystemTime;",
    "/// Client of the League of Legends api",
    "///",
    "/// Requests go through \x60transport\x60; the api key is added to every request of",
    "/// a resource that requires one."]
  ++ [braces (word "pub struct Client<T: rt::Transport> ")
      (lineDocs ["transport: T,", "api_key: String,"]),
    braces (word "impl<T: rt::Transport> Client<T> ") [
      braces
        (word "pub fn new(transport: T, api_key: impl Into<String>) -> Result<Self, rt::Error> ")
        [word "let api_key = api_key.into();",
         ifPlain "api_key.is_empty()" [word
           "return Err(rt::Error::InvalidArgument(\"the api key is empty\".to_string()));"],
         word "Ok(Client \x7b transport, api_key \x7d)"],
      braces (word "pub fn transport(&self) -> &T ") [word "&self.transport"]],
    word "/// A service region",
    word "#[derive(Debug, Clone, Copy, PartialEq, Eq, Hash, PartialOrd, Ord)]",
    word "pub struct Region(i32);"]

def regionConstant (r : Region) : Doc :=
  publicConstant (name r.constant ++ word ": Region") (call "Region" [word (toString r.number)])

def regionRecord (r : Region) : Doc :=
  record "RegionInfo" [
    given "region" (word "Region::" ++ name r.constant),
    given "name" (literal r.name),
    given "platform_id" (literal r.platformId),
    given "host" (literal r.host),
    given "global" (word (toString r.isGlobal))]

def overRegions (steps : List Doc) : Doc :=
  value (chain true "REGIONS" (method "iter" [] :: steps))

def findRegion (condition : String) : Doc := methodClose "find" (closure "info" (word condition))

def toRegion : Doc := methodClose "map" (closure "info" (word "info.region"))

def regionText (s : String) : Doc :=
  braces (word ("pub fn " ++ s ++ "(self) -> &'static str ")) [word
    ("self.info().map_or(\"\", |info| info." ++ s ++ ")")]

def regionMethods : List Doc :=
  [braces (word "fn info(self) -> Option<&'static RegionInfo> ")
     [overRegions [findRegion "info.region == self"]],
   word "/// Every region, special ones first",
   braces (word "pub fn all() -> impl Iterator<Item = Region> ") [overRegions [toRegion]],
   word "/// Every region requests can be executed against, Global left out",
   braces (word "pub fn valid() -> impl Iterator<Item = Region> ")
     [overRegions [methodClose "filter" (closure "info" (word "!info.global")), toRegion]],
   word "/// Look up a region by platform id, such as \x60NA1\x60",
   braces (word "pub fn from_platform_id(id: &str) -> Option<Region> ")
     [ifPlain "id.is_empty()" [word "return None;"],
      overRegions [findRegion "info.platform_id == id", toRegion]],
   word "/// Look up a region by name, ignoring ASCII case",
   braces (word "pub fn from_name(name: &str) -> Option<Region> ")
     [overRegions [findRegion "info.name.eq_ignore_ascii_case(name)", toRegion]],
   braces (word "pub fn number(self) -> i32 ") [word "self.0"],
   regionText "name",
   regionText "platform_id",
   regionText "host",
   word "/// Lowercase name, as used in request paths",
   braces (word "pub fn code(self) -> String ") [word "self.name().to_lowercase()"]]

def regionItems (regions : List Region) : List Doc :=
  [braces (word "impl Region ") (regions.map regionConstant),
   braces (word "struct RegionInfo ") (lineDocs [
     "region: Region,", "name: &'static str,", "platform_id: &'static str,",
     "host: &'static str,", "global: bool,"]),
   constant (word "REGIONS: &[RegionInfo]") (reference (array (regions.map regionRecord))),
   braces (word "impl Region ") regionMethods,
   braces (word "impl fmt::Display for Region ") [
     braces (word "fn fmt(&self, f: &mut fmt::Formatter<'_>) -> fmt::Result ")
       [word "f.write_str(self.name())"]]]

def serialAttribute (rawName : String) : Doc :=
  word "#[serde(" ++ box 4 (zero ++ word "rename = " ++ literal rawName ++ word "," ++ space
    ++ word "default," ++ space ++ word "skip_serializing_if = \"Option::is_none\""
    ++ brk { offset := -4 }) ++ word ")]"

def fieldLines (f : FieldView) : List Doc :=
  lineDocs (docs f.docs)
    ++ [serialAttribute f.rawName,
      word "pub " ++ declared f.identifier (typeDoc f.type) ++ word ","]

def methodLines (m : MethodView) : List Doc :=
  lineDocs (docs m.docs) ++ [
    function (name m.identifier) [word "&self"] (typeDoc (.optional (.path "SystemTime")))
      [value (chain true "self" [field m.field, method "map" [word "rt::parse_epoch_millis"]])]]

def classItems (c : ClassView) : List Doc :=
  lineDocs (docs c.docs) ++ [
    word ("#[derive(Debug, Clone, Default, PartialEq, rt::serde::Serialize, "
      ++ "rt::serde::Deserialize)]"),
    word "#[serde(crate = \"rt::serde\")]",
    braces (word "pub struct " ++ name c.name ++ word " ") (c.fields.flatMap fieldLines)]
  ++ if c.methods.isEmpty then [] else
    [implementation [] (name c.name) (c.methods.flatMap methodLines)]

def onlyIf (condition : Bool) (ds : List Doc) : List Doc := if condition then ds else []

def builderParameters : List Doc := [word "'a", word "T: rt::Transport"]

def builderItems (op : OperationView) : List Doc :=
  [word ("/// Request of [\x60Client::" ++ op.identifier ++ "\x60]"),
   braces (word "pub struct " ++ name op.builder ++ parameters builderParameters ++ word " ")
     (([word "client: &'a Client<T>"]
      ++ onlyIf op.needsRegion [word "region: Region"]
      ++ op.pathParameters.map (fun p => declared p.identifier (typeDoc p.type))
      ++ op.query.map (fun p => declared p.identifier (typeDoc (.optional p.type)))).map
        (· ++ word ","))]

def clientItem (op : OperationView) : Doc :=
  implementation [word "T: rt::Transport"] (word "Client" ++ arguments [word "T"])
    (lineDocs (docs op.docs) ++ [
      function (name op.identifier)
        ([word "&self"] ++ onlyIf op.needsRegion [word "region: Region"]
          ++ op.pathParameters.map fun p => declared p.identifier (typeDoc p.type))
        (name op.builder ++ arguments [word "'_", word "T"])
        [value (record op.builder
          ([given "client" (word "self")] ++ onlyIf op.needsRegion [word "region"]
            ++ op.pathParameters.map (fun p => name p.identifier)
            ++ op.query.map (fun p => given p.identifier (word "None"))))]])

def setterLines (p : ParameterView) : List Doc :=
  lineDocs (docs p.docs) ++ [
    function (name p.identifier) [word "mut self", declared p.identifier (typeDoc p.type)]
      (word "Self")
      [assignment (ownField p.identifier) (call "Some" [name p.identifier]), word "self"]]

def regionValue (a : RegionArgument) : Doc :=
  chain false "self" (field "region" ::
    if a.isPlatform then [method "platform_id" [], method "to_string" []] else [method "code" []])

def pushQuery (rawName : String) (d : Doc) : Doc :=
  statement (chain true "query" [methodClose "push" (tuple [literal rawName, d])])

def regionLines (regions : List String) : List Doc :=
  [constant (word "SUPPORTED: &[Region]")
     (reference (array (regions.map fun r => word "Region::" ++ name r))),
   ifPlain "!SUPPORTED.contains(&self.region)"
     [word "return Err(rt::Error::NotSupportedRegion(self.region.to_string()));"]]

def pathLine (op : OperationView) : Doc :=
  letStatement (word "path") (call "rt::uritemplates::expand" [literal op.path,
    matchClosure "name"
      (op.pathRegions.map (fun a => arm (literal a.rawName) (call "Some" [regionValue a]))
        ++ op.pathParameters.map (fun p => arm (literal p.rawName)
          (call "Some" [chain false "self" [field p.identifier, method "to_param" []]]))
        ++ [arm (word "_") (word "None")])] ++ word "?")

def baseLine (baseUrl : Option String) : Doc :=
  match baseUrl.filter (· ≠ "") with
  | some url => letStatement (word "base") (literal url)
  | none => word "let base = format!(\"https://\x7b\x7d\", self.region.host());"

def queryLines (op : OperationView) : List Doc :=
  [word "let mut query: Vec<(&str, String)> = Vec::new();"]
  ++ op.query.map (fun p =>
    ifStatement (flow 0 (word "let Some(value) = " ++ never ++ reference (ownField p.identifier)))
      [pushQuery p.rawName (chain false "value" [method "to_param" []])])
  ++ op.queryRegions.map (fun a => pushQuery a.rawName (regionValue a))
  ++ onlyIf op.needsKey [word "query.push((\"api_key\", self.client.api_key.clone()));"]
  ++ [word "let mut url = format!(\"\x7bbase\x7d\x7bpath\x7d\");",
    ifPlain "!query.is_empty()"
      (lineDocs ["url.push('?');", "url.push_str(&rt::encode_query(query));"]),
    word "Ok(url)"]

def sendCall (method : String) : Doc :=
  call "rt::call" [reference (chain false "self" [field "client", field "transport"]),
    literal method, word "&url"]

def builderMethods (op : OperationView) : Doc :=
  implementation builderParameters (name op.builder ++ arguments [word "'a", word "T"])
    (op.query.flatMap setterLines ++ [
      word "/// Full request url",
      braces (word "pub fn url(&self) -> Result<String, rt::Error> ")
        (onlyIf op.needsRegion (regionLines op.regions)
          ++ [pathLine op, baseLine op.baseUrl]
          ++ if op.hasQuery then queryLines op
            else [word "Ok(format!(\"\x7bbase\x7d\x7bpath\x7d\"))"]),
      word "/// Execute the request",
      function (word "send") [word "&self"] (typeDoc (.result op.resultType))
        ([word "let url = self.url()?;"] ++ match op.rawType with
          | some raw =>
            [letStatement (word "raw: " ++ typeDoc raw) (sendCall op.method ++ word "?"),
             word "rt::rekey(raw)"]
          | none => [value (sendCall op.method)])])

def operationItems (op : OperationView) : List Doc :=
  builderItems op ++ [clientItem op, builderMethods op]

structure Model where
  runtimePath : String
  regions : List Region
  classes : List ClassView
  operations : List OperationView

def ClassView.documentation (v : ClassView) : List String :=
  v.docs :: (v.fields.map (·.docs) ++ v.methods.map (·.docs))

def OperationView.documentation (v : OperationView) : List String := v.docs :: v.query.map (·.docs)

def Model.documentation (m : Model) : List String :=
  m.classes.flatMap ClassView.documentation ++ m.operations.flatMap OperationView.documentation

def Model.ofRegistry (config : Config) (r : Registry) : Except Failure Model := do
  checkBuilders r
  return {
    runtimePath := config.runtimePath
    regions := r.regions
    classes := ← r.classes.mapM (classView r)
    operations := ← r.orderedOperations.mapM (operationView r) }

namespace Model

variable (m : Model)

/-- Whether all names and types are such as the generated language has. -/
def hasProperNames : Bool :=
  isImportPath m.runtimePath && m.regions.all isRegion && m.classes.all isClass
    && m.operations.all isOperation

def items : List Doc :=
  opening m.runtimePath ++ regionItems m.regions ++ m.classes.flatMap classItems
    ++ m.operations.flatMap operationItems

def text : String := String.join (m.items.map render)

/-- The text where every name is proper and every line of documentation is a comment. -/
def formatted? : Option String :=
  if m.hasProperNames && m.documentation.all isComment then some m.text else none

end Model

/-- What the tools of the generated language make of a source: its text as they lay it out, or nothing if they
cannot read it. -/
abbrev Formatter := Model → Option String

def generate (config : Config) (r : Registry) (format : Formatter := Model.formatted?) :
    Except Failure String := do
  let m ← Model.ofRegistry config r
  match format m with
  | some source => return source
  | none => .error (.generation .invalidSource)

end TypedClient.Source
