import ThingWorld.Clock
import ThingWorld.Command.Line
import ThingWorld.Command.Template
import ThingWorld.Console
import ThingWorld.Dump
import ThingWorld.Engine.Dispatch
import ThingWorld.Engine.Emission
import ThingWorld.Format
import ThingWorld.Json.Path
import ThingWorld.Json.Printer
import ThingWorld.Json.Reader
import ThingWorld.Main
import ThingWorld.Reference
import ThingWorld.Script.Eval
import ThingWorld.Script.Parser
import ThingWorld.Settings
import ThingWorld.Snapshot
import ThingWorld.Store.Archive
import ThingWorld.Text.Escape
import ThingWorld.World.Copy
import ThingWorld.World.Open
import ThingWorld.World.Toast
import ThingWorld.Proofs.Upkeep.Privilege
import ThingWorld.Proofs.Upkeep.Reopening
import ThingWorld.Proofs.Upkeep.Crashes
import ThingWorld.Proofs.Upkeep.Retrying
import ThingWorld.Proofs.Store.Residue
import ThingWorld.Proofs.Turns.Once
import ThingWorld.Proofs.Turns.Parked
import ThingWorld.Proofs.Ends.Lines
import ThingWorld.Proofs.Snapshot.Delimited
import ThingWorld.Proofs.Script.Grammar
import ThingWorld.Proofs.Script.Readability
import ThingWorld.Proofs.Script.Derivations
import ThingWorld.Proofs.Script.Parsing
import ThingWorld.Proofs.Json.RoundTrip
import ThingWorld.Proofs.Dump.RoundTrip
import ThingWorld.Proofs.Upkeep.Transfer
import ThingWorld.Proofs.Course.Copying
import ThingWorld.Proofs.Upkeep.Ticking
import ThingWorld.Proofs.Upkeep.Subscribing
import ThingWorld.Proofs.Walk.Preorder
import ThingWorld.Proofs.Removal.Toast
import ThingWorld.Proofs.Cloning.Clone
import ThingWorld.Proofs.Ordinary.Players
import ThingWorld.Proofs.Ancestry.Circles
import ThingWorld.Proofs.Ancestry.Inheritance
import ThingWorld.Proofs.Sandbox.Actions
import ThingWorld.Proofs.Sandbox.Confinement
import ThingWorld.Proofs.Checks.Decided
import ThingWorld.Proofs.Checks.Locked
import ThingWorld.Proofs.Script.Retelling
import ThingWorld.Proofs.Text.Trimming
import ThingWorld.Proofs.Templates.Typed
import ThingWorld.Proofs.Templates.Stored
import ThingWorld.Proofs.Templates.Splicing
import ThingWorld.Proofs.Text.Finding
import ThingWorld.Proofs.Text.Folding
import ThingWorld.Proofs.Format.Scanning
import ThingWorld.Proofs.Format.Viewers
import ThingWorld.Proofs.Walk.Reading
import ThingWorld.Proofs.Templates.Found
import ThingWorld.Proofs.Speech.Unanswered
import ThingWorld.Proofs.Speech.Delivered
import ThingWorld.Proofs.Ancestry.Pointers
import ThingWorld.Proofs.Containment.Nesting
import ThingWorld.Proofs.Containment.Moving
import ThingWorld.Proofs.Upkeep.Housing
import ThingWorld.Proofs.Naming.Words
import ThingWorld.Proofs.Naming.Presence
import ThingWorld.Proofs.Clock.Waking
import ThingWorld.Proofs.Store.Media
import ThingWorld.Proofs.Script.Spelling
import ThingWorld.Proofs.Command.Remainders
import ThingWorld.Proofs.Upkeep.Durability
import ThingWorld.Proofs.Cloning.Smallest
import ThingWorld.Proofs.Text.Pieces
import ThingWorld.Proofs.Values.Retyping
