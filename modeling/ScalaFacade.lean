import ScalaFacade.Text.CharRange
import ScalaFacade.Text.IdentifierChar
import ScalaFacade.Text.Printable
import ScalaFacade.Text.Uppercase
import ScalaFacade.Text.Position
import ScalaFacade.Text.Blank
import ScalaFacade.Decimal.Shortest
import ScalaFacade.Decimal.FloatText
import ScalaFacade.Text.Quoted
import ScalaFacade.Json.Value
import ScalaFacade.Json.Cause
import ScalaFacade.Json.Fault
import ScalaFacade.Json.Scalar
import ScalaFacade.Json.Container
import ScalaFacade.Json.Skip
import ScalaFacade.Json.Format
import ScalaFacade.Json.Decode
import ScalaFacade.Json.Read
import ScalaFacade.Declaration.Modifier
import ScalaFacade.Declaration.Tree
import ScalaFacade.Declaration.Schema
import ScalaFacade.Declaration.Parse
import ScalaFacade.OrderedSet
import ScalaFacade.Text.Segment
import ScalaFacade.Scala.Name
import ScalaFacade.Scala.Builtin
import ScalaFacade.Facade.Type
import ScalaFacade.Facade.Member
import ScalaFacade.Layout.Writer
import ScalaFacade.Facade.Scope
import ScalaFacade.Facade.Exports
import ScalaFacade.Facade.Block
import ScalaFacade.Facade.Emit
import ScalaFacade.Project.Path
import ScalaFacade.Project.FileSystem
import ScalaFacade.Project.Failure
import ScalaFacade.Project.Options
import ScalaFacade.Project.Config
import ScalaFacade.Project.Program
import ScalaFacade.Command.Request
import ScalaFacade.Command.Run
import ScalaFacade.Main
import ScalaFacade.Proofs.Facade.Outline
import ScalaFacade.Proofs.Facade.Rendering
import ScalaFacade.Proofs.Facade.Collected
import ScalaFacade.Proofs.Facade.Merging
import ScalaFacade.Proofs.Facade.Language
import ScalaFacade.Proofs.Scala.Reading
import ScalaFacade.Proofs.Facade.Precedence
import ScalaFacade.Proofs.Facade.Interleaving
import ScalaFacade.Proofs.Facade.TypeView
import ScalaFacade.Proofs.Facade.Erasure
import ScalaFacade.Proofs.Facade.Sugar
import ScalaFacade.Proofs.Declaration.Canonical
import ScalaFacade.Proofs.Json.Printing
import ScalaFacade.Proofs.Json.Undoing
import ScalaFacade.Proofs.Declaration.RoundTrip
import ScalaFacade.Proofs.Command.Endings
import ScalaFacade.Proofs.Project.Writing
import ScalaFacade.Proofs.Command.AllOrNothing
import ScalaFacade.Proofs.Command.Collision
import ScalaFacade.Proofs.Command.Order
import ScalaFacade.Proofs.Command.SpelledOut
import ScalaFacade.Proofs.Json.Meaning
import ScalaFacade.Proofs.Json.Skipping
import ScalaFacade.Proofs.Json.Direct
import ScalaFacade.Proofs.Json.Reordering
import ScalaFacade.Proofs.Json.Places
import ScalaFacade.Proofs.Declaration.Tolerance
import ScalaFacade.Proofs.Facade.Components
import ScalaFacade.Proofs.Facade.Clean
import ScalaFacade.Proofs.Facade.ObjectLines
import ScalaFacade.Proofs.Facade.Modules
import ScalaFacade.Proofs.Scala.Definition
import ScalaFacade.Proofs.Facade.Parameters
import ScalaFacade.Proofs.Layout.History
import ScalaFacade.Proofs.Layout.Finished
import ScalaFacade.Proofs.Json.Grammar
import ScalaFacade.Proofs.Text.Location
import ScalaFacade.Proofs.Declaration.Routes
import ScalaFacade.Proofs.Project.Written
import ScalaFacade.Proofs.Scala.Quoting
import ScalaFacade.Proofs.Project.Naming
