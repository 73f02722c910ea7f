import TextTemplate.Fields
import TextTemplate.Host.Key
import TextTemplate.Log.Level
import TextTemplate.Log.Moment
import TextTemplate.Text.Search

/-!
Log records, and the part of the library and the place in its code that they come from. A record is
made of attributes. Those that every record has can be replaced like any other, also by values of
another type.
-/

namespace TextTemplate.Log

/-- The name of the library's own log. -/
def rootName : String := "chatplate"

structure Record where
  /-- The attributes in the order in which they were first set. -/
  attributes : Fields Host

/-- Attributes that every record has or that are shown in a way of their own. -/
def standardAttributes : List String :=
  ["name", "msg", "args", "created", "filename", "funcName", "levelname", "levelno", "lineno",
    "module", "msecs", "pathname", "process", "processName", "relativeCreated", "stack_info",
    "exc_info", "exc_text", "thread", "threadName", "taskName", "scope", "message"]

/-! ## Names and paths -/

/-- Whether a text occurs in another one. -/
def mentions (part : String) (cs : List Char) : Bool := Text.contains part.toList cs

/-- What is left of a name without the name of the library's own log and the points in front. -/
def innerName (name : String) : List Char :=
  let cs := name.toList
  let own := rootName.toList
  (if own.isPrefixOf cs then cs.drop own.length else cs).dropWhile (· == '.')

/-- The part of a name after its last point. -/
def lastPart (cs : List Char) : List Char := ((Text.pieces ['.'] cs).getLast?).getD []

/-- The part of the library that a log belongs to, judged by its name. -/
def inferScope (name : String) : String :=
  let inner := innerName name
  if mentions "lexer" inner || mentions "token" inner then "lexer"
  else if mentions "parser" inner then "parser"
  else if mentions "loader" inner || mentions "load" inner then "loader"
  else if mentions "template" inner || mentions "chat" inner || mentions "prompt" inner then
    "template"
  else if inner.isEmpty then rootName
  else String.ofList (lastPart inner)

/-- What a path from below the library's own folder or the folder of sources begins behind. -/
def pathMarks : List String := ["chatplate/", "src/"]

/-- A path from below the library's own folder or the folder of sources. -/
def shortPath (path : String) : String :=
  match pathMarks.findSome? fun mark => Text.after? mark.toList path.toList with
  | some rest => String.ofList rest
  | none => path

/-- Items in the place of a path. A mark among them counts for as many items as it has
characters. -/
def shortItems (items : List Host) : List Host :=
  let isMark (mark : String) : Host → Bool
    | .text s => s == mark
    | _ => false
  match pathMarks.findSome? fun mark =>
      (items.findIdx? (isMark mark)).map fun place => items.drop (place + mark.length) with
  | some rest => rest
  | none => items

/-- A value in the place of a path, which has to be something that marks can be in. -/
def shortPlace : Host → Except Problem Host
  | .text path => .ok (.text (shortPath path))
  | .list items => .ok (.list (shortItems items))
  | .tuple items => .ok (.tuple (shortItems items))
  | .map entries =>
    if pathMarks.any fun mark => (Host.entry? mark entries).isSome then .error .noAttribute
    else .ok (.map entries)
  | .foreign .set => .ok (.foreign .set)
  | _ => .error .wrongType

/-! ## Levels in records -/

/-- The level with a name of its own that a value counts as. -/
def Level.ofHost? (value : Host) : Option Level := do
  let n ← value.keyNumber?
  Level.named.find? fun level => n.sameValue (.int level)

namespace Record

/-- A time in seconds, given in microseconds. -/
def secondsOf (microseconds : Int) : Except Problem Host :=
  match floatOfRatio? microseconds 1000000 with
  | some seconds => .ok (.number (.float seconds))
  | none => .error .overflow

/-- The arguments of a message, which are the entries of a map when there is nothing else. -/
def argumentsOf : List Host → Host
  | [.map entries] => if entries.isEmpty then .tuple [.map entries] else .map entries
  | args => .tuple args

/-- The value of an attribute, nothing for one that has never been set. -/
def get (record : Record) (key : String) : Host := (record.attributes.get? key).getD .null

/-- Sets an attribute. -/
def set (record : Record) (key : String) (value : Host) : Record :=
  ⟨record.attributes.put key value⟩

/-- The word for the level, which has to be something that can be looked up. -/
def severity (record : Record) : Except Problem String :=
  let level := record.get "levelno"
  if level.isKey then .ok (((Level.ofHost? level).map Level.severity).getD Level.info.severity)
  else .error .wrongType

/-- Whether the record tells the place in the code it comes from. -/
def locatesCode (record : Record) : Bool :=
  (Level.ofHost? (record.get "levelno")).any Level.locatesCode

/-- The moment of the record. -/
def moment (record : Record) : Except Problem Moment := Moment.ofHost (record.get "created")

/-- The scope that was set, or else the one that the name of the log implies. -/
def scope (record : Record) : Except Problem Host :=
  let scope := record.get "scope"
  if scope.truthy then .ok scope
  else match record.get "name" with
    | .text name => .ok (.text (inferScope name))
    | .foreign .bytes => .error .wrongType
    | _ => .error .noAttribute

/-- Whether an attribute is one to show. Those that begin with an underscore are private. -/
def isShown (key : String) : Bool :=
  !standardAttributes.contains key && key.toList.head? != some '_'

/-- The path of the code, as it is shown. -/
def place (record : Record) : Except Problem Host := shortPlace (record.get "pathname")

/-- The scope, the attributes to show and the place in the code, in this order. -/
def shownAttributes (record : Record) : Except Problem (Fields Host) := do
  let scope ← record.scope
  let shown := record.attributes.filter fun (key, _) => isShown key
  let place : Fields Host ←
    if record.locatesCode then do
      let path ← record.place
      .ok [("code.filepath", path), ("code.lineno", record.get "lineno")]
    else .ok []
  .ok ((Fields.putAll [("scope", scope)] shown).putAll place)

end Record

end TextTemplate.Log
