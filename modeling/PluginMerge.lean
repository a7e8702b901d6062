import PluginMerge.Main
import PluginMerge.Proofs.Step
import PluginMerge.Proofs.Position
import PluginMerge.Proofs.ClosedForm
import PluginMerge.Proofs.Concatenation
import PluginMerge.Proofs.Secrecy
import PluginMerge.Proofs.Preprocessing
import PluginMerge.Proofs.Release
import PluginMerge.Proofs.Balance
import PluginMerge.Proofs.Ownership
import PluginMerge.Proofs.Reading
import PluginMerge.Proofs.Layout
import PluginMerge.Proofs.Rereading
import PluginMerge.Proofs.Outcome
import PluginMerge.Proofs.Rebuild
import PluginMerge.Proofs.Attribution
import PluginMerge.Proofs.History
import PluginMerge.Proofs.Account
import PluginMerge.Proofs.Chronicle
import PluginMerge.Proofs.Reordering
import PluginMerge.Proofs.Footprint
import PluginMerge.Proofs.Interleaving
import PluginMerge.Proofs.LineEndings
import PluginMerge.Proofs.Search
import PluginMerge.Proofs.Session
import PluginMerge.Proofs.Verbosity
import PluginMerge.Proofs.Skeleton
import PluginMerge.Proofs.DirectiveGrammar
import PluginMerge.Proofs.ImportGrammar
import PluginMerge.Proofs.Grouping
import PluginMerge.Proofs.Locating
import PluginMerge.Proofs.Toggles
import PluginMerge.Proofs.Manifest
