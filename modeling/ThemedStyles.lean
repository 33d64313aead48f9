import ThemedStyles.Entries
import ThemedStyles.Text.Blank
import ThemedStyles.Text.Casing
import ThemedStyles.Text.LetterCase
import ThemedStyles.Text.Quoted
import ThemedStyles.Binary64
import ThemedStyles.Binary64.Literal
import ThemedStyles.Binary64.Shortest
import ThemedStyles.Json
import ThemedStyles.Json.Number
import ThemedStyles.Json.Patch
import ThemedStyles.Json.Pointer
import ThemedStyles.Json.Reader
import ThemedStyles.Json.Writer
import ThemedStyles.Property
import ThemedStyles.Selector
import ThemedStyles.Selector.Key
import ThemedStyles.Style
import ThemedStyles.Style.Document
import ThemedStyles.Rules
import ThemedStyles.Rules.Writing
import ThemedStyles.ClassTable
import ThemedStyles.Compiler
import ThemedStyles.Drawing
import ThemedStyles.Vocabulary
import ThemedStyles.Octave
import ThemedStyles.Theme
import ThemedStyles.Theme.Document
import ThemedStyles.Generator
import ThemedStyles.Generator.Standard
import ThemedStyles.Registry
import ThemedStyles.Style.Layout
import ThemedStyles.Buckets
import ThemedStyles.Ledger
import ThemedStyles.Yaml
import ThemedStyles.Yaml.Scalar
import ThemedStyles.Yaml.Token
import ThemedStyles.Yaml.Reader
import ThemedStyles.File
import ThemedStyles.Registry.Loading
import ThemedStyles.Session
import ThemedStyles.Proofs.Runs
import ThemedStyles.Proofs.Rules.Nesting
import ThemedStyles.Proofs.Rules.Relocation
import ThemedStyles.Proofs.Compilation.Newcomers
import ThemedStyles.Proofs.Compilation.History
import ThemedStyles.Proofs.Compilation.Registration
import ThemedStyles.Proofs.Compilation.Independence
import ThemedStyles.Proofs.Compilation.Rescoping
import ThemedStyles.Proofs.Sessions.Calls
import ThemedStyles.Proofs.Sessions.Ownership
import ThemedStyles.Proofs.Sessions.Application
import ThemedStyles.Proofs.Sessions.Commutation
import ThemedStyles.Proofs.Selectors.Lists
import ThemedStyles.Proofs.Selectors.Substitution
import ThemedStyles.Proofs.Selectors.Identifiers
import ThemedStyles.Proofs.Selectors.Containment
import ThemedStyles.Proofs.Selectors.Classes
import ThemedStyles.Proofs.Selectors.Suffixes
import ThemedStyles.Proofs.Text.Words
import ThemedStyles.Proofs.Registry.Documents
import ThemedStyles.Proofs.Compilation.Growth
import ThemedStyles.Proofs.Sessions.Growth
import ThemedStyles.Proofs.Selectors.Collisions
import ThemedStyles.Proofs.Compilation.Collisions
import ThemedStyles.Proofs.Sessions.Replay
import ThemedStyles.Proofs.Json.Paths
import ThemedStyles.Proofs.Style.Documents
import ThemedStyles.Proofs.Themes.Codecs
import ThemedStyles.Proofs.Themes.Forms
import ThemedStyles.Proofs.Numbers.Integers
import ThemedStyles.Proofs.Themes.Patches
import ThemedStyles.Proofs.Themes.Frame
import ThemedStyles.Proofs.Registry.ThemeMap
import ThemedStyles.Proofs.Themes.Generators
import ThemedStyles.Proofs.Style.Forms
import ThemedStyles.Proofs.Registry.Subscribers
import ThemedStyles.Proofs.Buckets.Watching
import ThemedStyles.Proofs.Rules.Views
import ThemedStyles.Proofs.Rules.Blocks
import ThemedStyles.Proofs.Rules.Writes
import ThemedStyles.Proofs.Rules.Visits
import ThemedStyles.Proofs.Rules.WellFormed
import ThemedStyles.Proofs.Rules.Statements
import ThemedStyles.Proofs.Rules.Bodies
import ThemedStyles.Proofs.Selectors.Extension
import ThemedStyles.Proofs.Selectors.Idempotence
import ThemedStyles.Proofs.Text.CamelNormal
import ThemedStyles.Proofs.Text.SteadyNames
import ThemedStyles.Proofs.Drawing.Leaves
import ThemedStyles.Proofs.Drawing.PropertyNames
import ThemedStyles.Proofs.Generators.Families
import ThemedStyles.Proofs.Generators.Octaves
import ThemedStyles.Proofs.Json.Sequences
import ThemedStyles.Proofs.Json.Nulls
import ThemedStyles.Proofs.Compilation.Forgetting
import ThemedStyles.Proofs.Properties.Recognition
import ThemedStyles.Proofs.Style.Compounds
import ThemedStyles.Proofs.Vocabulary.Phrases
import ThemedStyles.Proofs.Selectors.Distribution
