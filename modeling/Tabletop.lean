import Tabletop.Main
import Tabletop.Dice.Json
import Tabletop.Chance.Json
import Tabletop.Random.Script
import Tabletop.Random.Collection
import Tabletop.Table.Disk
import Tabletop.Proofs.Dice.Stream
import Tabletop.Proofs.Formula.Normal
import Tabletop.Proofs.Formula.Bounds
import Tabletop.Proofs.Formula.Reading
import Tabletop.Proofs.Formula.Context
import Tabletop.Proofs.Formula.Text
import Tabletop.Proofs.Table.Gathering
import Tabletop.Proofs.Table.Keys
import Tabletop.Proofs.Table.Listing
import Tabletop.Proofs.Table.Shadowing
import Tabletop.Proofs.Json.Lexer
import Tabletop.Proofs.Json.RoundTrip
import Tabletop.Proofs.Json.Record
import Tabletop.Proofs.Json.Serialized
import Tabletop.Proofs.Json.Indented
import Tabletop.Proofs.CommandLine.Rolling
import Tabletop.Proofs.CommandLine.Failure
import Tabletop.Proofs.CommandLine.Files
import Tabletop.Proofs.Table.Provenance
import Tabletop.Proofs.Formula.Exact
import Tabletop.Proofs.Formula.Checked
import Tabletop.Proofs.Formula.Meaning
import Tabletop.Proofs.Formula.Chain
import Tabletop.Proofs.Json.Grammar
import Tabletop.Proofs.Formula.Fields
import Tabletop.Proofs.Pool.Scoring
import Tabletop.Proofs.Pool.Comparison
import Tabletop.Proofs.Pool.History
import Tabletop.Proofs.Chance
import Tabletop.Proofs.Random.Pick
import Tabletop.Proofs.Table.Parts
import Tabletop.Proofs.Table.Spelling
import Tabletop.Proofs.Failing
import Tabletop.Proofs.Chance.Scale
import Tabletop.Proofs.Results
