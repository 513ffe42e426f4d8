import ThingWorld.Event
import ThingWorld.Format.Piece
import ThingWorld.Script.Value
import ThingWorld.World.Relations
namespace ThingWorld

structure FormatContext where
  viewer : Option ThingId
  subject : ThingId
  actor : Option ThingId
  args : List String
  event : Option Event
  result : Option Script.Value
  admin : Bool
  verbose : Bool

namespace FormatContext

def of (subject : ThingId) : FormatContext := ⟨none, subject, none, [], none, none, false, false⟩

def forViewer (world : World) (viewer subject : ThingId) : FormatContext :=
  { of subject with
    viewer := some viewer
    admin := world.isAdmin viewer
    verbose := world.isVerbose viewer }

def isViewer (context : FormatContext) (id : ThingId) : Bool := context.viewer == some id

def about (context : FormatContext) (subject : ThingId) : FormatContext :=
  { context with subject := subject }

end FormatContext

namespace Format

def maxDepth : Nat := 4

def defaultContents : String := "$This $is here."
def defaultLink : String := "$This leads to $link."

def forMe : List Char := "$forme".toList
def forOthers : List Char := "$forothers".toList

def half (template : List Char) (length start : Nat) (stop : Option Nat) : List Char :=
  let stop := match stop with
    | some stop => if start < stop then stop else template.length
    | none => template.length
  Text.trim ((template.take stop).drop (start + length))

-- The half of the template that is for the viewer; without a mark there are no halves.
def selectHalf (template : List Char) (context : FormatContext) : List Char :=
  let mine := Text.find? forMe template
  let theirs := Text.find? forOthers template
  if mine.isNone && theirs.isNone then template
  else
    let isActor := context.viewer.isSome && context.viewer == context.actor
    match if isActor then (mine, forMe, theirs) else (theirs, forOthers, mine) with
    | (none, _, _) => []
    | (some start, mark, stop) => half template mark.length start stop

-- The name of a thing as the viewer reads it.
def nameFor (world : World) (id : ThingId) (context : FormatContext) : String :=
  if context.isViewer id then "you"
  else if context.verbose then world.displayName id ++ " (" ++ showId id ++ ")"
  else world.displayName id

def showThing (world : World) (context : FormatContext) (property : Option String) (id : ThingId) :
    String :=
  match property with
  | some property => world.text id property
  | none => nameFor world id context

def showThing? (world : World) (context : FormatContext) (property : Option String)
    (id : Option ThingId) (absent : String) : String :=
  (id.map (showThing world context property)).getD absent

def argPosition? (word : String) : Option Nat :=
  (Text.after? "arg".toList word.toList).bind Text.word?

def argAt (args : List String) (position : Nat) : String := (args[position]?).getD ""

def showEvent (world : World) (context : FormatContext) (event : Event) (property : Option String) :
    String :=
  match property with
  | none => event.name
  | some property =>
    if property == "source" then nameFor world event.source context
    else
      match argPosition? property with
      | some position => argAt event.args position
      | none => world.text event.source property

def showResult (world : World) (context : FormatContext) (value : Script.Value)
    (property : Option String) : String :=
  match value, property with
  | .thing id, some property => world.text id property
  | .thing id, none => nameFor world id context
  | _, some _ => ""
  | value, none => value.asText

abbrev Nested := FormatContext → String → String

def showList (world : World) (nested : Nested) (context : FormatContext) (ids : List ThingId)
    (property fallback : String) : String :=
  let shown := (ids.filter fun id => !context.isViewer id).map fun id =>
    nested (context.about id) ((world.text? id property).getD fallback)
  String.intercalate "\n" (shown.filter fun line => !Text.isBlankText line)

-- What a word shows; nothing when the word is to stay as it is. Without `nested` the format is too deep for
-- lists and descriptions.
def expand (world : World) (nested : Option Nested) (context : FormatContext) (word : String)
    (property : Option String) : Option String :=
  let subject := context.subject
  let you := context.isViewer subject
  match argPosition? word with
  | some position => some (argAt context.args position)
  | none =>
    match word with
    | "this" => some (showThing world context property subject)
    | "name" => some (if you then "you" else world.text subject Property.name)
    | "is" => some (if you then "are" else "is")
    | "s" => some (if you then "" else "s")
    | "location" => some (showThing? world context property (world.location? subject) "")
    | "owner" => some (showThing? world context property (world.linkOwner? subject) "")
    | "link" => some (showThing? world context property (world.destination? subject) "nowhere")
    | "actor" => some (showThing? world context property context.actor "")
    | "me" => some (showThing? world context property context.viewer "")
    | "contents" =>
      some ((nested.map fun nested =>
        showList world nested context (world.contents subject) Property.contentsFormat
          defaultContents).getD "")
    | "links" =>
      some ((nested.map fun nested =>
        showList world nested context (world.links subject) Property.linkFormat defaultLink).getD "")
    | "description" =>
      some ((nested.map fun nested =>
        nested (context.about subject) (world.text subject Property.description)).getD "")
    | "arg" => some (String.intercalate " " context.args)
    | "forme" => some ""
    | "forothers" => some ""
    | "event" => context.event.map fun event => showEvent world context event property
    | "result" => context.result.map fun value => showResult world context value property
    | other => if property.isNone then world.text? subject other else none

def isCapitalized : List Char → Bool
  | c :: _ => Text.isAsciiUpper c
  | [] => false

def lowerFirst : List Char → List Char
  | c :: r => Text.asciiLowerChar c :: r
  | [] => []

def dropBlank : List Char → List Char
  | ' ' :: r => r
  | cs => cs

def renderPieces (world : World) (nested : Option Nested) (context : FormatContext) :
    List Piece → List Char × Bool
  | [] => ([], false)
  | .char c :: rest =>
    let (out, cut) := renderPieces world nested context rest
    (c :: out, cut)
  | .dollar :: rest =>
    let (out, cut) := renderPieces world nested context rest
    ('$' :: out, cut)
  | .token word property :: rest =>
    let key := String.ofList (lowerFirst word)
    if key == "quote" then (dropBlank (spelling rest), false)
    else if key == "admin" then
      if !context.admin then ([], true)
      else
        match rest with
        | .char ' ' :: rest => renderPieces world nested context rest
        | rest => renderPieces world nested context rest
    else
      let (out, cut) := renderPieces world nested context rest
      let shown := match expand world nested context key (property.map String.ofList) with
        | some text => (if isCapitalized word then Text.capitalize text else text).toList
        | none => (Piece.token word property).spelling
      (shown ++ out, cut)

def renderTemplate (world : World) (nested : Option Nested) (context : FormatContext)
    (template : String) : String :=
  let (out, cut) := renderPieces world nested context (pieces (selectHalf template.toList context))
  String.ofList (if cut then Text.trimEnd out else out)

-- Renders a template that may expand `levels` deep.
def renderAt (world : World) : Nat → FormatContext → String → String
  | 0, context, template => renderTemplate world none context template
  | levels + 1, context, template =>
    renderTemplate world (some (renderAt world levels)) context template

end Format

def World.render (world : World) (template : String) (context : FormatContext) : String :=
  Format.renderAt world Format.maxDepth context template

end ThingWorld
