import Rowsmith.Main
import Rowsmith.Failure.Shelf
import Rowsmith.Files.Tree
import Rowsmith.Proofs.Resolve.Outcome
import Rowsmith.Proofs.Resolve.Registration
import Rowsmith.Proofs.Resolve.Run
import Rowsmith.Proofs.Resolve.Integrity
import Rowsmith.Proofs.Follow.Chains
import Rowsmith.Proofs.Follow.Layout
import Rowsmith.Proofs.Reading.Lockstep
import Rowsmith.Proofs.Resolve.KeyStorage
import Rowsmith.Proofs.Resolve.Nesting
import Rowsmith.Proofs.Resolve.Steady
import Rowsmith.Proofs.Resolve.Renaming
import Rowsmith.Proofs.Resolve.Order
import Rowsmith.Proofs.Sql.TableNames
import Rowsmith.Proofs.Sql.NotNull
import Rowsmith.Proofs.Resolve.Assembly
import Rowsmith.Proofs.Resolve.Accepted
import Rowsmith.Proofs.Writing.LaidOut
import Rowsmith.Proofs.Writing.Update
import Rowsmith.Proofs.Resolve.Failing
import Rowsmith.Proofs.Resolve.Blame
import Rowsmith.Proofs.Source.Catalogs
import Rowsmith.Proofs.Source.Ordinals
import Rowsmith.Proofs.Files.Collisions
import Rowsmith.Proofs.Writing.Names
import Rowsmith.Proofs.Files.References
import Rowsmith.Proofs.Follow.Termination
import Rowsmith.Proofs.Resolve.Extension
import Rowsmith.Proofs.Writing.Emission
import Rowsmith.Proofs.Follow.Blocks
import Rowsmith.Proofs.Files.ColumnNames
import Rowsmith.Proofs.Resolve.Foretelling
import Rowsmith.Proofs.Resolve.Finite
import Rowsmith.Proofs.Follow.Depth
import Rowsmith.Proofs.Sql.CreateTable
import Rowsmith.Proofs.Reading.Required
import Rowsmith.Proofs.Source.Anchors
import Rowsmith.Proofs.Source.Recorded
import Rowsmith.Proofs.Source.Redeclared
import Rowsmith.Proofs.Writing.Referred
import Rowsmith.Proofs.Files.StandardNames
import Rowsmith.Proofs.Files.Parameters
import Rowsmith.Proofs.Files.Writing
import Rowsmith.Proofs.Failure.Context
import Rowsmith.Proofs.TypeExpr.Printing
import Rowsmith.Proofs.TypeExpr.Positions
import Rowsmith.Proofs.Resolve.Optional
import Rowsmith.Proofs.Settings.Merging
import Rowsmith.Proofs.Source.Regrouping
import Rowsmith.Proofs.Source.UseTrees
import Rowsmith.Proofs.Text.History
