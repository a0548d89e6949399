import SlotPattern.Main
import SlotPattern.Naming
import SlotPattern.Proofs.FailedCalls
import SlotPattern.Proofs.GeneratorRuns
import SlotPattern.Proofs.LintSoundness
import SlotPattern.Proofs.Lookups
import SlotPattern.Proofs.Reachable
import SlotPattern.Proofs.Rendering
import SlotPattern.Proofs.RonTexts
import SlotPattern.Proofs.Traces
import SlotPattern.Proofs.StoredPatterns
import SlotPattern.Proofs.SamplePaths
import SlotPattern.Proofs.SymbolAssignment
import SlotPattern.Proofs.UniformDraw
import SlotPattern.Proofs.LintCompleteness
import SlotPattern.Proofs.Loading
import SlotPattern.Proofs.FaultCharacters
import SlotPattern.Proofs.BadNames
import SlotPattern.Proofs.FirstSlotOperators
import SlotPattern.Proofs.AdjacentAtoms
import SlotPattern.Proofs.Shorthand
import SlotPattern.Proofs.VerbatimTexts
import SlotPattern.Proofs.Lookbacks
import SlotPattern.Proofs.SlotWarnings
import SlotPattern.Proofs.DeclaredNames
import SlotPattern.Proofs.Merging
import SlotPattern.Proofs.Reseeding
import SlotPattern.Proofs.SequentialNames
import SlotPattern.Proofs.RelistedPaths
import SlotPattern.Proofs.OptionOrder
import SlotPattern.Proofs.NameParts
import SlotPattern.Proofs.Ranking
import SlotPattern.Proofs.TokenOffsets
