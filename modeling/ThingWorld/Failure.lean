import ThingWorld.Thing
namespace ThingWorld

inductive Failure where
  -- Bytes that are no snapshot.
  | malformedSnapshot
  -- Text that is no dump of a world.
  | malformedDump
  | notFound (what : String)
  | ambiguous (reference : String) (candidates : List String)
  | schemaMismatch (entity : String) (expected found : UInt8)
  | prototypeInUse (id : ThingId) (users : List ThingId)
  | notEnoughArguments (command : String) (needed : Nat)
  | permissionDenied (what : String)
  | unknownCommand (word : String)
  | invalidCommand (why : String)
  -- The event was refused, and those concerned have been told.
  | eventFailed (event : String)
  | script (why : String)
  | nestingTooDeep (limit : Nat)
  | clockStopped
  | internal (why : String)
deriving DecidableEq, Repr

namespace Failure

def message : Failure → String
  | malformedSnapshot => "serialization error: malformed snapshot"
  | malformedDump => "json error: malformed dump"
  | notFound what => "not found: " ++ what
  | ambiguous reference candidates =>
    "'" ++ reference ++ "' is ambiguous: " ++ String.intercalate ", " candidates
  | schemaMismatch entity expected found =>
    "schema mismatch for " ++ entity ++ ": expected " ++ Text.showNat expected.toNat
      ++ ", got " ++ Text.showNat found.toNat
  | prototypeInUse id users =>
    showId id ++ " is the prototype of " ++ String.intercalate ", " (users.map showId)
  | notEnoughArguments command needed =>
    command ++ " needs at least " ++ Text.showNat needed ++ " argument(s)"
  | permissionDenied what => "permission denied: " ++ what
  | unknownCommand word => "unknown command: " ++ word
  | invalidCommand why => "invalid command: " ++ why
  | eventFailed event => event ++ " failed"
  | script why => "script error: " ++ why
  | nestingTooDeep limit => "command substitution nested deeper than " ++ Text.showNat limit
  | clockStopped => "world clock is not running"
  | internal why => "internal error: " ++ why

def isEventFailure : Failure → Bool
  | eventFailed _ => true
  | _ => false

end Failure
end ThingWorld
