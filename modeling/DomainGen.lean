import DomainGen.Analysis
import DomainGen.Cli.Program
import DomainGen.Ddef.Parser
import DomainGen.Generate.Target
import DomainGen.Host.Machine
import DomainGen.Link.Resolve
import DomainGen.Main
import DomainGen.Model.Form
import DomainGen.Proofs.Ddef.Grammar
import DomainGen.Proofs.Ddef.Reading
import DomainGen.Proofs.Ddef.Names
import DomainGen.Proofs.Link.Declarations
import DomainGen.Proofs.Link.Scoping
import DomainGen.Proofs.Generate.Conversion
import DomainGen.Proofs.Cli.Checking
import DomainGen.Proofs.Cli.Resolving
import DomainGen.Proofs.Generate.Discriminants
import DomainGen.Proofs.Generate.LastDeclaration
import DomainGen.Proofs.Generate.SourceTree
import DomainGen.Proofs.Link.Stability
import DomainGen.Proofs.Model.Roots
import DomainGen.Proofs.Link.Arrangement
import DomainGen.Proofs.Link.Nesting
import DomainGen.Proofs.Generate.Nesting
import DomainGen.Proofs.Generate.RootPackage
import DomainGen.Proofs.Analysis.Unions
import DomainGen.Proofs.Generate.ClassSource
import DomainGen.Proofs.Generate.Mentions
import DomainGen.Proofs.Link.Merging
import DomainGen.Proofs.Generate.Relocation
import DomainGen.Proofs.Generate.Splitting
import DomainGen.Proofs.Host.Confinement
import DomainGen.Proofs.Generate.Confinement
import DomainGen.Proofs.Generate.ModuleSource
import DomainGen.Proofs.Generate.DeclaredTypes
import DomainGen.Proofs.Generate.Extension
import DomainGen.Proofs.Generate.Feedback
import DomainGen.Proofs.Watching
import DomainGen.Proofs.Cli.Sessions
import DomainGen.Proofs.Cli.Quiet
import DomainGen.Proofs.Config.Backups
import DomainGen.Proofs.Analysis.Hierarchy
import DomainGen.Proofs.Analysis.Membership
import DomainGen.Proofs.Cli.Parsing
import DomainGen.Proofs.Ddef.FirstFault
import DomainGen.Proofs.Ddef.Cutting
import DomainGen.Proofs.Ddef.Layout
import DomainGen.Proofs.Generate.Overloads
import DomainGen.Proofs.Generate.ModuleMentions
import DomainGen.Proofs.Generate.Meaning
import DomainGen.Proofs.Generate.Interrupted
import DomainGen.Proofs.Generate.Containment
import DomainGen.Proofs.Cli.Statuses
import DomainGen.Proofs.Cli.Showing
import DomainGen.Proofs.Config.Failing
import DomainGen.Proofs.Model.Acceptance
import DomainGen.Proofs.Config.Waiting
import DomainGen.Proofs.Config.Searching
import DomainGen.Proofs.Model.Walking
import DomainGen.Proofs.Ddef.Progress
