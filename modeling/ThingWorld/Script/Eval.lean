import ThingWorld.Reference
import ThingWorld.Script.Parser
import ThingWorld.Script.Value
namespace ThingWorld.Script

-- Who runs a script and what it may touch.
structure Context where
  this : ThingId
  me : ThingId
  actor : ThingId
  event : Option String
  -- The first is the command word.
  args : List String
  admin : Bool
  maxActions : Nat
deriving DecidableEq, Repr

def Context.view (context : Context) : Viewpoint :=
  ⟨context.me, context.this, some context.actor⟩

inductive RunError where
  | actionLimit (limit : Nat)
  | wrongArity (function : String) (wanted given : Nat)
  | unknownFunction (name : String)
  | noThing (reference : String)
  | notYours (id : ThingId)
  | badChance
  | needsNumbers (operator : Operator)
  | evaluatedLazily (operator : Operator)
  | refused (failure : Failure)
deriving DecidableEq, Repr

def RunError.message : RunError → String
  | actionLimit limit => "Action limit reached (" ++ Text.showNat limit ++ " max)"
  | wrongArity function wanted given =>
    function ++ "() expects " ++ Text.showNat wanted ++ " argument(s), got " ++ Text.showNat given
  | unknownFunction name => "Unknown function: " ++ name
  | noThing reference => "set(): no thing '" ++ reference ++ "'"
  | notYours id => "set(): may not change " ++ showId id
  | badChance => "chance() expects a number 0-100"
  | needsNumbers operator => "'" ++ operator.spelling ++ "' requires numbers"
  | evaluatedLazily operator => "'" ++ operator.spelling ++ "' is evaluated lazily"
  | refused failure => failure.message

structure Progress where
  world : World
  used : Nat
  -- The latest first.
  commands : List String
  outputs : List String

abbrev Eval := ExceptT RunError (StateM Progress)

inductive Function where
  | command | output | property | set | find | location | has | isClosed | name | chance
deriving DecidableEq, Repr

def Function.ofName? (name : String) : Option Function :=
  match name with
  | "cmd" => some .command
  | "output" => some .output
  | "prop" => some .property
  | "set" => some .set
  | "find" => some .find
  | "location" => some .location
  | "has" => some .has
  | "is_closed" => some .isClosed
  | "name" => some .name
  | "chance" => some .chance
  | _ => none

def Function.arity : Function → Nat
  | property => 2
  | set => 3
  | has => 2
  | _ => 1

-- The thing that a value means, when there is one.
def thingOf? (world : World) (context : Context) (value : Value) : Option ThingId :=
  match value with
  | .thing id => if world.contains id then some id else none
  | .number n =>
    if 0 ≤ n && world.contains n.toUInt64 then some n.toUInt64 else none
  | .text s =>
    match world.resolve context.view s with
    | .found id => some id
    | _ => none
  | _ => none

def thingValue : Option ThingId → Value
  | some id => .thing id
  | none => .null

def variableValue (world : World) (context : Context) (name : String) : Value :=
  match Text.index? name with
  | some position => ((context.args[position]?).map Value.text).getD .null
  | none =>
    match name with
    | "this" => .thing context.this
    | "me" => .thing context.me
    | "actor" => .thing context.actor
    | "here" => thingValue (world.location? context.me)
    | "event" => (context.event.map Value.text).getD .null
    | "args" => .text (String.intercalate " " context.args.tail)
    | _ => .null

-- Equal values, or values with the same text; nothing equals the absent value but itself.
def looselyEqual (left right : Value) : Bool :=
  left == right || (left != .null && right != .null && left.asText == right.asText)

-- Text on either side, or a side that is no number, joins the texts.
def plus (left right : Value) : Value :=
  let joined := Value.text (left.asText ++ right.asText)
  match left, right with
  | .text _, _ => joined
  | _, .text _ => joined
  | _, _ =>
    match left.number?, right.number? with
    | some a, some b => .number (Text.saturate (a.toInt + b.toInt))
    | _, _ => joined

def numbers (operator : Operator) (left right : Value) : Except RunError (Int64 × Int64) :=
  match left.number?, right.number? with
  | some a, some b => .ok (a, b)
  | _, _ => .error (.needsNumbers operator)

-- Operators that need both operands.
def combine (operator : Operator) (left right : Value) : Except RunError Value :=
  match operator with
  | .equal => .ok (.flag (looselyEqual left right))
  | .notEqual => .ok (.flag (!looselyEqual left right))
  | .add => .ok (plus left right)
  | .subtract => (numbers operator left right).map fun (a, b) =>
      .number (Text.saturate (a.toInt - b.toInt))
  | .greater => (numbers operator left right).map fun (a, b) => .flag (a > b)
  | .less => (numbers operator left right).map fun (a, b) => .flag (a < b)
  | .greaterEqual => (numbers operator left right).map fun (a, b) => .flag (a ≥ b)
  | .lessEqual => (numbers operator left right).map fun (a, b) => .flag (a ≤ b)
  | .and => .error (.evaluatedLazily operator)
  | .or => .error (.evaluatedLazily operator)

def spend (context : Context) : Eval Unit := do
  if (← get).used < context.maxActions then
    modify fun progress => { progress with used := progress.used + 1 }
  else throw (.actionLimit context.maxActions)

def act (step : Act Unit) : Eval Unit := fun progress =>
  match step.run progress.world with
  | (.ok (), world) => (.ok (), { progress with world := world })
  | (.error failure, world) => (.error (.refused failure), { progress with world := world })

def roll : Eval Nat := fun progress =>
  let world := progress.world
  (.ok ((world.dice world.thrown).val + 1),
    { progress with world := { world with thrown := world.thrown + 1 } })

def setValue (context : Context) (target property value : Value) : Eval Value := do
  match thingOf? (← get).world context target with
  | none => throw (.noThing target.asText)
  | some id =>
    if !context.admin && id != context.this then throw (.notYours id)
    act (World.setProperty id property.asText value.toDatum)
    return value

def hasItem (world : World) (holder : ThingId) (item : Value) : Bool :=
  let contents := world.contents holder
  match item with
  | .thing id => contents.contains id
  | item =>
    match world.matchAmong contents item.asText with
    | .notFound => false
    | _ => true

def chance (percent : Value) : Eval Value := do
  match percent.number? with
  | some n =>
    if 0 ≤ n && n ≤ 100 then return .flag ((← roll : Nat) ≤ n.toInt) else throw .badChance
  | none => throw .badChance

def apply (context : Context) (function : Function) (args : List Value) : Eval Value := do
  let world := (← get).world
  match function, args with
  | .command, [line] =>
    modify fun progress => { progress with commands := line.asText :: progress.commands }
    return .flag true
  | .output, [text] =>
    modify fun progress => { progress with outputs := text.asText :: progress.outputs }
    return .flag true
  | .property, [thing, property] =>
    let value := (thingOf? world context thing).bind fun id => world.choose? id [property.asText]
    return (value.map Value.ofDatum).getD .null
  | .set, [thing, property, value] => setValue context thing property value
  | .find, [reference] => return thingValue (thingOf? world context reference)
  | .location, [thing] => return thingValue ((thingOf? world context thing).bind world.location?)
  | .has, [holder, item] =>
    return .flag ((thingOf? world context holder).any fun holder => hasItem world holder item)
  | .isClosed, [thing] => return .flag ((thingOf? world context thing).any world.isClosed)
  | .name, [thing] =>
    return ((thingOf? world context thing).map fun id => Value.text (world.displayName id)).getD .null
  | .chance, [percent] => chance percent
  | _, _ => throw (.wrongArity "" function.arity args.length)

def checkCall (context : Context) (name : String) (given : Nat) : Eval Function := do
  spend context
  match Function.ofName? name with
  | none => throw (.unknownFunction name)
  | some function =>
    if given = function.arity then return function
    else throw (.wrongArity name function.arity given)

mutual

def evaluate (context : Context) : Expr → Eval Value
  | .text s => return .text s
  | .number n => return .number n
  | .flag b => return .flag b
  | .var name => return variableValue (← get).world context name
  | .call name args => do
    let function ← checkCall context name args.length
    apply context function (← evaluateAll context args)
  | .not operand => return .flag (!(← evaluate context operand).isTruthy)
  | .binary .and left right => do
    if !(← evaluate context left).isTruthy then return .flag false
    return .flag (← evaluate context right).isTruthy
  | .binary .or left right => do
    if (← evaluate context left).isTruthy then return .flag true
    return .flag (← evaluate context right).isTruthy
  | .binary operator left right => do
    let left ← evaluate context left
    let right ← evaluate context right
    match combine operator left right with
    | .ok value => return value
    | .error error => throw error
  | .choice condition yes no => do
    if (← evaluate context condition).isTruthy then evaluate context yes else evaluate context no
  | .sequence parts => evaluateLast context .null parts

def evaluateAll (context : Context) : List Expr → Eval (List Value)
  | [] => return []
  | expr :: rest => do
    let value ← evaluate context expr
    return value :: (← evaluateAll context rest)

-- The value of the last part.
def evaluateLast (context : Context) (last : Value) : List Expr → Eval Value
  | [] => return last
  | expr :: rest => do
    let value ← evaluate context expr
    evaluateLast context value rest

end

structure Outcome where
  value : Value
  commands : List String
  outputs : List String
deriving DecidableEq, Repr

-- Reads a source under the limits of a world; a source that is too long is not looked at.
def validate (limits : Limits) (source : String) : Except Failure Expr :=
  if limits.scriptLength < source.length then
    .error (.script ("script longer than " ++ Text.showNat limits.scriptLength ++ " characters"))
  else (parse source).mapError fun error => .script error.message

def finish (result : Except RunError Value) (progress : Progress) : Except Failure Outcome :=
  match result with
  | .ok value => .ok ⟨value, progress.commands.reverse, progress.outputs.reverse⟩
  | .error error => .error (.script error.message)

-- Runs a source after `used` actions were already spent; the number of actions is known also when it fails.
def runCounted (context : Context) (used : Nat) (source : String) :
    Act (Except Failure Outcome × Nat) := fun world =>
  match validate world.limits source with
  | .error failure => (.ok (.error failure, used), world)
  | .ok expr =>
    let (result, progress) := (evaluate context expr).run ⟨world, used, [], []⟩
    (.ok (finish result progress, progress.used), progress.world)

def run (context : Context) (source : String) : Act Outcome := do
  match ← runCounted context 0 source with
  | (.ok outcome, _) => return outcome
  | (.error failure, _) => throw failure

end ThingWorld.Script
